import GrantFs.Text

/-! # Double-precision numbers

Finite numbers of the form mantissa times a power of two, with 53 bits of mantissa. Every operation
is exact arithmetic on natural numbers followed by one rounding, half to even. Written form: the
fewest digits that read back as the same number.
-/
namespace GrantFs

/-- The number `± mantissa * 2 ^ exponent`. -/
structure Binary64 where
  negative : Bool
  mantissa : Nat
  exponent : Int
deriving DecidableEq, Repr

namespace Binary64

def zero : Binary64 := ⟨false, 0, 0⟩

/-- `num / den` to the nearest natural number, a half to the even neighbour. -/
def roundDiv (num den : Nat) : Nat :=
  let q := num / den
  let r := num % den
  if 2 * r < den then q
  else if den < 2 * r then q + 1
  else if q % 2 = 0 then q
  else q + 1

/-- `num / den` scaled by `2 ^ (-e)`, as a fraction. -/
def scaled (num den : Nat) (e : Int) : Nat × Nat :=
  if 0 ≤ e then (num, den * Nat.pow 2 e.toNat) else (num * Nat.pow 2 (-e).toNat, den)

/-- The exponent that leaves 53 bits before the point, or the least one there is. -/
def exponentFor (num den : Nat) : Int :=
  let guess : Int := (Nat.log2 num : Int) - Nat.log2 den - 52
  let (n, d) := scaled num den guess
  max (-1074) (if n / d < Nat.pow 2 52 then guess - 1 else guess)

/-- The double nearest to `num / den`; none when it lies beyond the largest finite one. -/
def ofFraction (num den : Nat) : Option Binary64 :=
  if num = 0 then some zero
  else
    let e := exponentFor num den
    let (n, d) := scaled num den e
    let m := roundDiv n d
    let (m, e) := if m = Nat.pow 2 53 then (Nat.pow 2 52, e + 1) else (m, e)
    if 971 < e then none else some ⟨false, m, e⟩

def fraction (x : Binary64) : Nat × Nat :=
  if 0 ≤ x.exponent then (x.mantissa * Nat.pow 2 x.exponent.toNat, 1)
  else (x.mantissa, Nat.pow 2 (-x.exponent).toNat)

def negate (x : Binary64) : Binary64 := { x with negative := !x.negative }

def mul (x y : Binary64) : Option Binary64 :=
  let (a, b) := x.fraction
  let (c, d) := y.fraction
  ofFraction (a * c) (b * d)

def div (x y : Binary64) : Option Binary64 :=
  let (a, b) := x.fraction
  let (c, d) := y.fraction
  ofFraction (a * d) (b * c)

def pow10 (k : Nat) : Binary64 := (ofFraction (Nat.pow 10 k) 1).getD zero

/-- Divides by `10 ^ k`, in steps of 308 places at most. -/
def shrink : (steps : Nat) → Binary64 → Nat → Binary64
  | 0, x, _ => x
  | steps + 1, x, k =>
    if k ≤ 308 then (x.div (pow10 k)).getD x
    else if x.mantissa = 0 then x
    else shrink steps ((x.div (pow10 308)).getD x) (k - 308)

/-- `significand * 10 ^ e`, each factor rounded before the product is; none beyond the range. -/
def ofDecimal (significand : Nat) (e : Int) : Option Binary64 := do
  let x ← ofFraction significand 1
  if 0 ≤ e then
    if e ≤ 308 then x.mul (pow10 e.toNat)
    else if x.mantissa = 0 then pure x
    else none
  else pure (shrink (e.natAbs / 308 + 1) x e.natAbs)

/-- Whether `digits * 10 ^ place` lies among the reals that round to `x`. -/
def readsBack (x : Binary64) (digits : Nat) (place : Int) : Bool :=
  let num := if 0 ≤ place then digits * Nat.pow 10 place.toNat else digits
  let den := if 0 ≤ place then 1 else Nat.pow 10 (-place).toNat
  match ofFraction num den with
  | some y => y.mantissa == x.mantissa && y.exponent == x.exponent
  | none => false

def leadingPlace (num den : Nat) : Int :=
  let guess : Int := (Nat.toDigits 10 num).length - (Nat.toDigits 10 den).length
  let reaches (k : Int) : Bool :=
    if 0 ≤ k then decide (den * Nat.pow 10 k.toNat ≤ num)
    else decide (den ≤ num * Nat.pow 10 (-k).toNat)
  if reaches guess then guess else guess - 1

/-- The nearer of the two decimals with `count` digits around `x`, if one of them reads back. -/
def decimalWith (x : Binary64) (count : Nat) : Option (Nat × Int) :=
  let (num, den) := x.fraction
  let place : Int := leadingPlace num den - (count - 1 : Nat)
  let (n, d) :=
    if 0 ≤ place then (num, den * Nat.pow 10 place.toNat)
    else (num * Nat.pow 10 (-place).toNat, den)
  let low := n / d
  let below := readsBack x low place
  let above := readsBack x (low + 1) place
  let near := roundDiv n d
  if below && above then some (near, place)
  else if below then some (low, place)
  else if above then some (low + 1, place)
  else none

/-- Digits and place of the shortest decimal that reads back; 17 digits always do. -/
def shortest (x : Binary64) : Nat × Int :=
  ((List.range 17).findSome? fun k => decimalWith x (k + 1)).getD (x.mantissa, 0)

def trimZeros : (fuel : Nat) → Nat → Int → Nat × Int
  | 0, n, place => (n, place)
  | fuel + 1, n, place =>
    if n % 10 = 0 ∧ n ≠ 0 then trimZeros fuel (n / 10) (place + 1) else (n, place)

/-- Positional for leading places from the fifth behind the point to the sixteenth before it,
otherwise with a signed exponent. -/
def text (x : Binary64) : Text :=
  let sign : Text := if x.negative then "-" else ""
  if x.mantissa = 0 then sign ++ "0.0"
  else
    let (n, place) := shortest x
    let (n, place) := trimZeros 20 n place
    let digits := Text.decimal n
    let leading : Int := place + digits.length - 1
    if 0 ≤ leading ∧ leading < 16 then
      let whole := leading.toNat + 1
      if 0 ≤ place then
        sign ++ digits ++ List.replicate place.toNat '0' ++ ".0"
      else sign ++ digits.take whole ++ "." ++ digits.drop whole
    else if -5 ≤ leading ∧ leading < 0 then
      sign ++ "0." ++ List.replicate (leading.natAbs - 1) '0' ++ digits
    else
      let mark : Text := if leading < 0 then "e-" else "e+"
      let tail := digits.drop 1
      sign ++ digits.take 1 ++ (if tail.isEmpty then [] else '.' :: tail) ++ mark ++
        Text.decimal leading.natAbs

end Binary64
end GrantFs
