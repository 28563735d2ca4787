import GrantFs.Text
import GrantFs.Unicode.Property

/-! # Points in time

An instant counts seconds since the start of 1970 in universal time, with nanoseconds. It is
written in the calendar form of RFC 3339. The reader is lenient about blanks, about the number of
digits and about the separator before the offset, and it names the first thing that is wrong.
-/
namespace GrantFs

/-- `nanos` of a thousand million and more belong to a leap second. -/
structure Instant where
  seconds : Int
  nanos : Nat
deriving DecidableEq, Repr, Inhabited

namespace Instant

/-- Days since the start of 1970 of a date in the proleptic Gregorian calendar. -/
def dayNumber (year : Int) (month day : Nat) : Int :=
  let y := if month ≤ 2 then year - 1 else year
  let era := y.fdiv 400
  let yearOfEra := y - era * 400
  let monthFromMarch : Int := ((month + 9) % 12 : Nat)
  let dayOfYear := (153 * monthFromMarch + 2).fdiv 5 + (day : Int) - 1
  let dayOfEra := yearOfEra * 365 + yearOfEra.fdiv 4 - yearOfEra.fdiv 100 + dayOfYear
  era * 146097 + dayOfEra - 719468

def dateOfDay (n : Int) : Int × Nat × Nat :=
  let z := n + 719468
  let era := z.fdiv 146097
  let dayOfEra := z - era * 146097
  let yearOfEra :=
    (dayOfEra - dayOfEra.fdiv 1460 + dayOfEra.fdiv 36524 - dayOfEra.fdiv 146096).fdiv 365
  let dayOfYear := dayOfEra - (365 * yearOfEra + yearOfEra.fdiv 4 - yearOfEra.fdiv 100)
  let monthFromMarch := (5 * dayOfYear + 2).fdiv 153
  let day := dayOfYear - (153 * monthFromMarch + 2).fdiv 5 + 1
  let month := if monthFromMarch < 10 then monthFromMarch + 3 else monthFromMarch - 9
  let year := yearOfEra + era * 400 + (if month ≤ 2 then 1 else 0)
  (year, month.toNat, day.toNat)

def isLeapYear (year : Int) : Bool :=
  year % 4 == 0 && (year % 100 != 0 || year % 400 == 0)

def daysInMonth (year : Int) (month : Nat) : Nat :=
  if month = 2 then (if isLeapYear year then 29 else 28)
  else if month = 4 ∨ month = 6 ∨ month = 9 ∨ month = 11 then 30
  else 31

def padded (width n : Nat) : Text :=
  let digits := Text.decimal n
  List.replicate (width - digits.length) '0' ++ digits

/-- Four digits, with a sign and at least five characters outside of the years 0 to 9999. -/
def yearText (year : Int) : Text :=
  if 0 ≤ year ∧ year ≤ 9999 then padded 4 year.toNat
  else if year < 0 then '-' :: padded 4 year.natAbs
  else '+' :: padded 4 year.natAbs

/-- No digits, or as many groups of three as the value needs. -/
def fractionText (nanos : Nat) : Text :=
  if nanos = 0 then []
  else if nanos % 1000000 = 0 then '.' :: padded 3 (nanos / 1000000)
  else if nanos % 1000 = 0 then '.' :: padded 6 (nanos / 1000)
  else '.' :: padded 9 nanos

def calendarText (t : Instant) : Text :=
  let leap := t.nanos / 1000000000
  let (year, month, day) := dateOfDay (t.seconds.fdiv 86400)
  let second := (t.seconds.fmod 86400).toNat
  yearText year ++ "-" ++ padded 2 month ++ "-" ++ padded 2 day ++ "T" ++
    padded 2 (second / 3600) ++ ":" ++ padded 2 (second / 60 % 60) ++ ":" ++
    padded 2 (second % 60 + leap) ++ fractionText (t.nanos % 1000000000)

def zuluText (t : Instant) : Text := calendarText t ++ "Z"

def offsetText (t : Instant) : Text := calendarText t ++ "+00:00"

/-- Date and time in digits, as it names a session directory. -/
def stampText (t : Instant) : Text :=
  let (year, month, day) := dateOfDay (t.seconds.fdiv 86400)
  let second := (t.seconds.fmod 86400).toNat
  yearText year ++ padded 2 month ++ padded 2 day ++ "-" ++
    padded 2 (second / 3600) ++ padded 2 (second / 60 % 60) ++ padded 2 (second % 60)

inductive Flaw where
  | outOfRange
  | invalidCharacter
  | tooShort
  | trailing
deriving DecidableEq, Repr

def Flaw.message : Flaw → Text
  | outOfRange => "input is out of range"
  | invalidCharacter => "input contains invalid characters"
  | tooShort => "premature end of input"
  | trailing => "trailing input"

def skipBlanks (t : Text) : Text := t.dropWhile fun c => Unicode.isWhiteSpace c.toNat

def readDigits (width : Nat) (t : Text) : Except Flaw (Nat × Text) :=
  let digits := (t.take width).takeWhile Char.isDigit
  if t.isEmpty then .error .tooShort
  else if digits.isEmpty then .error .invalidCharacter
  else
    let n := Text.digitsValue digits
    if n < Nat.pow 2 63 then .ok (n, t.drop digits.length) else .error .outOfRange

def readField (low high : Nat) (t : Text) : Except Flaw (Nat × Text) := do
  let (n, rest) ← readDigits 2 (skipBlanks t)
  if low ≤ n ∧ n ≤ high then pure (n, rest) else throw .outOfRange

/-- A year has four digits at most unless a sign stands before it. -/
def readYear (t : Text) : Except Flaw (Int × Text) := do
  let (year, rest) ← (match skipBlanks t with
    | '-' :: rest => do
      let (n, rest) ← readDigits rest.length rest
      pure (-(n : Int), rest)
    | '+' :: rest => do
      let (n, rest) ← readDigits rest.length rest
      pure ((n : Int), rest)
    | rest => do
      let (n, rest) ← readDigits 4 rest
      pure ((n : Int), rest) : Except Flaw (Int × Text))
  if -2147483648 ≤ year ∧ year ≤ 2147483647 then pure (year, rest) else throw .outOfRange

def readMark (mark : Char) (t : Text) : Except Flaw Text :=
  match skipBlanks t with
  | [] => .error .tooShort
  | c :: rest => if c = mark then .ok rest else .error .invalidCharacter

/-- An optional fraction; digits behind the ninth are dropped. -/
def readFraction : Text → Except Flaw (Nat × Text)
  | '.' :: t => do
    let (n, rest) ← readDigits 9 t
    pure (n * Nat.pow 10 (9 - (t.length - rest.length)), rest.dropWhile Char.isDigit)
  | t => .ok (0, t)

def readTwoDigits (high : Char) : Text → Except Flaw (Nat × Text)
  | a :: b :: rest =>
    if a.isDigit && b.isDigit then
      if a ≤ high then .ok (Text.digitsValue [a, b], rest) else .error .outOfRange
    else .error .invalidCharacter
  | _ => .error .tooShort

def readOffset (t : Text) : Except Flaw (Int × Text) :=
  let t := skipBlanks t
  if (t.take 3).map Char.toUpper = "UTC" then .ok (0, t.drop 3)
  else
    match t with
    | [] => .error .tooShort
    | c :: rest =>
      if c = 'Z' ∨ c = 'z' then .ok (0, rest)
      else if c = '+' ∨ c = '-' ∨ c = '\u2212' then do
        let (hours, rest) ← readTwoDigits '9' rest
        let rest := rest.dropWhile fun c => c = ':' || Unicode.isWhiteSpace c.toNat
        let (minutes, rest) ← readTwoDigits '5' rest
        let offset : Int := hours * 3600 + minutes * 60
        pure (if c = '+' then offset else -offset, rest)
      else .error .invalidCharacter

def ofText (t : Text) : Except Flaw Instant := do
  let (year, t) ← readYear t
  let t ← readMark '-' t
  let (month, t) ← readField 1 12 t
  let t ← readMark '-' t
  let (day, t) ← readField 1 31 t
  let t ← (match t with
    | [] => throw .tooShort
    | c :: rest =>
      if c = 'T' ∨ c = 't' ∨ c = ' ' then pure rest else throw .invalidCharacter :
      Except Flaw Text)
  let (hour, t) ← readField 0 23 t
  let t ← readMark ':' t
  let (minute, t) ← readField 0 59 t
  let t ← readMark ':' t
  let (second, t) ← readField 0 60 t
  let (nanos, t) ← readFraction t
  let (offset, t) ← readOffset t
  if ¬ (skipBlanks t).isEmpty then throw .trailing
  if year < -262143 ∨ 262142 < year ∨ daysInMonth year month < day ∨ 86400 ≤ offset.natAbs then
    throw .outOfRange
  let leap := if second = 60 then 1 else 0
  let local_ :=
    dayNumber year month day * 86400 + (hour * 3600 + minute * 60 + (second - leap) : Nat)
  pure ⟨local_ - offset, nanos + leap * 1000000000⟩

end Instant
end GrantFs
