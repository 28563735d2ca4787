import GrantFs.SortedMap
import GrantFs.Binary64

/-! # JSON values

Whole numbers keep their exact value as long as they fit in 64 bits; all others are double-precision
numbers. An object is a list of members in the order in which they are written.
-/
namespace GrantFs

inductive Json.Number where
  /-- A whole number from 0 to `2 ^ 64 - 1`. -/
  | natural (n : Nat)
  /-- The whole number `-n`, with `n` from 1 to `2 ^ 63`. -/
  | negative (n : Nat)
  | real (x : Binary64)
deriving DecidableEq, Repr

inductive Json where
  | null
  | bool (b : Bool)
  | number (n : Json.Number)
  | text (t : Text)
  | array (items : List Json)
  | object (members : List (Text × Json))
deriving Repr, Inhabited

namespace Json

def Number.text : Number → Text
  | natural n => Text.decimal n
  | negative n => '-' :: Text.decimal n
  | real x => x.text

def ofNat (n : Nat) : Json := .number (.natural n)

def ofText? : Option Text → Json
  | none => .null
  | some t => .text t

def ofNat? : Option Nat → Json
  | none => .null
  | some n => .number (.natural n)

def member? (j : Json) (name : Text) : Option Json :=
  match j with
  | object members => members.lookup name
  | _ => none

mutual

/-- The value with the members of every object in key order; of two members with one name the later
is kept. -/
def sorted : Json → Json
  | array items => array (sortedItems items)
  | object members => object (SortedMap.ofList (sortedMembers members)).entries
  | null => null
  | bool b => bool b
  | number n => number n
  | text t => text t

def sortedItems : List Json → List Json
  | [] => []
  | j :: rest => sorted j :: sortedItems rest

def sortedMembers : List (Text × Json) → List (Text × Json)
  | [] => []
  | (key, j) :: rest => (key, sorted j) :: sortedMembers rest

end

end Json
end GrantFs
