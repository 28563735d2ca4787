import GrantFs.Binary64

/-! # Byte counts for people

Counts below 1024 are exact; larger ones are given in the largest fitting unit with two places. The
count is a double-precision number before it is divided, and the division by a power of 1024 is
exact, so one rounding to two places remains, a half to the even neighbour.
-/
namespace GrantFs.Text

def units : List Text := ["KB", "MB", "GB", "TB"]

/-- How often `value / unit` can be divided by 1024, at most `left` times, before it falls below. -/
def unitIndex (value : Nat) : (left index : Nat) → Nat
  | 0, index => index
  | left + 1, index =>
    if value < 1024 * Nat.pow 1024 index then index else unitIndex value left (index + 1)

def nearestDouble (n : Nat) : Nat :=
  match Binary64.ofFraction n 1 with
  | some x => x.fraction.1 / x.fraction.2
  | none => n

def byteCount (n : Nat) : Text :=
  if n < 1024 then decimal n ++ " B"
  else
    let value := nearestDouble n
    let index := unitIndex value units.length 0
    let hundredths := Binary64.roundDiv (value * 100) (Nat.pow 1024 index)
    let places := hundredths % 100
    decimal (hundredths / 100) ++ "." ++ decimal (places / 10) ++ decimal (places % 10) ++ " " ++
      units.getD (index - 1) []

end GrantFs.Text
