import GrantFs.Text
import GrantFs.Unicode.CaseFolding
import GrantFs.Unicode.Property

/-! # Sets of characters

A set is an expression over spans and named properties; membership is decided on code points.
-/
namespace GrantFs.Regex

inductive CharSet where
  | none
  /-- All code points from `first` to `last`. -/
  | span (first last : Nat)
  /-- All code points with a property, in about so many spans. -/
  | having (spans : Nat) (property : Nat → Bool)
  | union (a b : CharSet)
  | inter (a b : CharSet)
  | minus (a b : CharSet)
  | symDiff (a b : CharSet)
  | complement (a : CharSet)
  /-- The set with all case variants of its members. -/
  | folded (a : CharSet)

namespace CharSet

def has : CharSet → Nat → Bool
  | none, _ => false
  | span first last, n => decide (first ≤ n) && decide (n ≤ last)
  | having _ property, n => property n
  | union a b, n => a.has n || b.has n
  | inter a b, n => a.has n && b.has n
  | minus a b, n => a.has n && !b.has n
  | symDiff a b, n => xor (a.has n) (b.has n)
  | complement a, n => !a.has n
  | folded a, n => (Unicode.caseVariants n).any a.has

def weight : CharSet → Nat
  | none => 8
  | span first last => if last < 0x80 ∨ first = last then 32 else 300
  | having spans _ => 60 * spans
  | union a b => a.weight + b.weight
  | inter a b => a.weight + b.weight
  | minus a b => a.weight + b.weight
  | symDiff a b => a.weight + b.weight
  | complement a => a.weight + 300
  | folded a => 2 * a.weight

def single (c : Char) : CharSet := span c.toNat c.toNat

def ofSpans (spans : List (Char × Char)) : CharSet :=
  spans.foldr (fun (first, last) set => union (span first.toNat last.toNat) set) none

def anyCase (c : Char) : CharSet :=
  (Unicode.caseVariants c.toNat).foldr (fun n set => union (span n n) set) none

def asciiAnyCase (c : Char) : CharSet := union (single c.toLower) (single c.toUpper)

def asciiClasses : List (Text × List (Char × Char)) := [
  ("alnum", [('0', '9'), ('A', 'Z'), ('a', 'z')]),
  ("alpha", [('A', 'Z'), ('a', 'z')]),
  ("ascii", [('\x00', '\x7f')]),
  ("blank", [('\t', '\t'), (' ', ' ')]),
  ("cntrl", [('\x00', '\x1f'), ('\x7f', '\x7f')]),
  ("digit", [('0', '9')]),
  ("graph", [('!', '~')]),
  ("lower", [('a', 'z')]),
  ("print", [(' ', '~')]),
  ("punct", [('!', '/'), (':', '@'), ('[', '\x60'), ('\x7b', '~')]),
  ("space", [('\t', '\r'), (' ', ' ')]),
  ("upper", [('A', 'Z')]),
  ("word", [('0', '9'), ('A', 'Z'), ('_', '_'), ('a', 'z')]),
  ("xdigit", [('0', '9'), ('A', 'F'), ('a', 'f')])]

def asciiClass? (name : Text) : Option CharSet := (asciiClasses.lookup name).map ofSpans

def isAsciiWord (n : Nat) : Bool := ((asciiClass? "word").getD none).has n

/-- The spans of a large property. -/
def manySpans : Nat := 770

/-- Digits, blanks and word characters by their lower-case letters. -/
def shorthand? (unicode : Bool) (letter : Char) : Option CharSet :=
  if letter = 'd' then
    if unicode then
      some (having Unicode.decimalNumber.length (Unicode.inSpans Unicode.decimalNumber))
    else asciiClass? "digit"
  else if letter = 's' then
    if unicode then some (having Unicode.whiteSpace.length Unicode.isWhiteSpace)
    else asciiClass? "space"
  else if letter = 'w' then
    if unicode then some (having manySpans Unicode.isWord) else asciiClass? "word"
  else Option.none

/-- The form in which names of properties are compared: lower case, without separators and without
a leading `is`. -/
def plainName (name : Text) : Text :=
  let plain (t : Text) : Text :=
    (t.filter fun c => c.toNat < 0x80 && c ≠ ' ' && c ≠ '_' && c ≠ '-').map Char.toLower
  if (name.take 2).map Char.toLower = "is" then
    if plain (name.drop 2) = "c" then "isc" else plain (name.drop 2)
  else plain name

def named? (name : Text) : Option CharSet :=
  (Unicode.namedSet? (String.ofList (plainName name))).map (having manySpans)

def valued? (property value : Text) : Option CharSet :=
  let value := String.ofList (plainName value)
  let property := plainName property
  if property = "gc" ∨ property = "generalcategory" then
    let general := ["any", "ascii", "assigned"]
    let set? := if general.contains value then Unicode.namedSet? value else Unicode.category? value
    set?.map (having manySpans)
  else if property = "sc" ∨ property = "script" then
    (Unicode.script? value).map (having manySpans)
  else if property = "scx" ∨ property = "scriptextensions" then
    (Unicode.usedScript? value).map (having manySpans)
  else Option.none

end CharSet
end GrantFs.Regex
