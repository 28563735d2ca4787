import GrantFs.Json.Flaw

/-! # Scanning JSON text

Reading of strings, numbers and words, and skipping of whole values. Skipping is more lenient than
reading: it does not pair surrogates, does not compute numbers and does not bound the nesting.
-/
namespace GrantFs.Json

def isBlank (c : Char) : Bool := c = ' ' || c = '\n' || c = '\t' || c = '\r'

def skipBlanks (t : Text) : Text := t.dropWhile isBlank

def hexDigit? (c : Char) : Option Nat :=
  if '0' ≤ c ∧ c ≤ '9' then some (c.toNat - '0'.toNat)
  else if 'a' ≤ c ∧ c ≤ 'f' then some (c.toNat - 'a'.toNat + 10)
  else if 'A' ≤ c ∧ c ≤ 'F' then some (c.toNat - 'A'.toNat + 10)
  else none

/-- Four hexadecimal digits; fewer than four bytes before the end are an unfinished string. -/
def readHex (t : Text) : Except Malformed (Nat × Text) :=
  if Text.byteSize t < 4 then .error .endOfString
  else
    match t with
    | a :: b :: c :: d :: rest =>
      match hexDigit? a, hexDigit? b, hexDigit? c, hexDigit? d with
      | some a, some b, some c, some d => .ok (((a * 16 + b) * 16 + c) * 16 + d, rest)
      | _, _, _, _ => .error .invalidEscape
    | _ => .error .invalidEscape

def simpleEscape? (c : Char) : Option Char :=
  if c = '"' ∨ c = '\\' ∨ c = '/' then some c
  else if c = 'b' then some '\x08'
  else if c = 'f' then some '\x0c'
  else if c = 'n' then some '\n'
  else if c = 'r' then some '\r'
  else if c = 't' then some '\t'
  else none

def readSecondHalf (high : Nat) (t : Text) : Except Malformed (Char × Text) :=
  match t with
  | [] => .error .endOfString
  | '\\' :: [] => .error .endOfString
  | '\\' :: 'u' :: rest => do
    let (low, rest) ← readHex rest
    if 0xDC00 ≤ low ∧ low ≤ 0xDFFF then
      pure (Char.ofNat ((high - 0xD800) * 1024 + (low - 0xDC00) + 0x10000), rest)
    else throw .loneSurrogate
  | _ => .error .unfinishedPair

def readUnicodeEscape (t : Text) : Except Malformed (Char × Text) := do
  let (n, rest) ← readHex t
  if 0xDC00 ≤ n ∧ n ≤ 0xDFFF then throw .loneSurrogate
  else if 0xD800 ≤ n ∧ n ≤ 0xDBFF then readSecondHalf n rest
  else pure (Char.ofNat n, rest)

def readStringFrom : (fuel : Nat) → Text → Except Malformed (Text × Text)
  | 0, _ => .error .endOfString
  | _ + 1, [] => .error .endOfString
  | fuel + 1, c :: rest =>
    if c = '"' then .ok ([], rest)
    else if c = '\\' then
      match rest with
      | [] => .error .endOfString
      | e :: rest =>
        if e = 'u' then do
          let (c, rest) ← readUnicodeEscape rest
          let (t, rest) ← readStringFrom fuel rest
          pure (c :: t, rest)
        else
          match simpleEscape? e with
          | none => .error .invalidEscape
          | some c => do
            let (t, rest) ← readStringFrom fuel rest
            pure (c :: t, rest)
    else if c.toNat < 0x20 then .error .controlCharacter
    else do
      let (t, rest) ← readStringFrom fuel rest
      pure (c :: t, rest)

def readString (t : Text) : Except Malformed (Text × Text) := readStringFrom (t.length + 1) t

def skipStringFrom : (fuel : Nat) → Text → Except Malformed Text
  | 0, _ => .error .endOfString
  | _ + 1, [] => .error .endOfString
  | fuel + 1, c :: rest =>
    if c = '"' then .ok rest
    else if c = '\\' then
      match rest with
      | [] => .error .endOfString
      | e :: rest =>
        if e = 'u' then do
          let (_, rest) ← readHex rest
          skipStringFrom fuel rest
        else if (simpleEscape? e).isSome then skipStringFrom fuel rest
        else .error .invalidEscape
    else if c.toNat < 0x20 then .error .controlCharacter
    else skipStringFrom fuel rest

def skipString (t : Text) : Except Malformed Text := skipStringFrom (t.length + 1) t

def largestWord : Nat := Nat.pow 2 64 - 1

/-- Takes digits into the significand as long as it fits in 64 bits; returns the digits left. -/
def accumulate (significand : Nat) : Text → Nat × Text
  | [] => (significand, [])
  | c :: rest =>
    let next := significand * 10 + (c.toNat - '0'.toNat)
    if largestWord < next then (significand, c :: rest) else accumulate next rest

def readExponent (t : Text) : Except Malformed (Bool × Text × Text) :=
  let (negative, t) : Bool × Text :=
    match t with
    | '-' :: rest => (true, rest)
    | '+' :: rest => (false, rest)
    | t => (false, t)
  let digits := t.takeWhile Char.isDigit
  if t.isEmpty then .error .endOfValue
  else if digits.isEmpty then .error .invalidNumber
  else .ok (negative, digits, t.drop digits.length)

def signed (negative : Bool) (x : Binary64) : Number :=
  .real (if negative then x.negate else x)

/-- The double for the significand and the places counted so far, with an optional exponent. -/
def readScaled (negative : Bool) (significand : Nat) (places : Int) (t : Text) :
    Except Malformed (Number × Text) :=
  let finish (e : Int) (rest : Text) : Except Malformed (Number × Text) :=
    match Binary64.ofDecimal significand e with
    | some x => .ok (signed negative x, rest)
    | none => .error .numberOutOfRange
  match t with
  | c :: rest =>
    if c = 'e' ∨ c = 'E' then do
      let (down, digits, rest) ← readExponent rest
      let e := Text.digitsValue digits
      if Nat.pow 2 31 ≤ e then
        if significand = 0 ∨ down then pure (signed negative .zero, rest)
        else throw .numberOutOfRange
      else finish (if down then places - e else places + e) rest
    else finish places t
  | [] => finish places t

def readNumber (negative : Bool) (t : Text) : Except Malformed (Number × Text) :=
  let digits := t.takeWhile Char.isDigit
  let rest := t.drop digits.length
  let (significand, unread) := accumulate 0 digits
  if t.isEmpty then .error .endOfValue
  else if digits.isEmpty then .error .invalidNumber
  else if digits.head? = some '0' ∧ 1 < digits.length then .error .invalidNumber
  else
    match rest with
    | '.' :: fraction =>
      let decimals := fraction.takeWhile Char.isDigit
      let rest := fraction.drop decimals.length
      if decimals.isEmpty then
        .error (if rest.isEmpty then .endOfValue else .invalidNumber)
      else
        let (significand, ignored) := accumulate significand decimals
        let taken := decimals.length - ignored.length
        readScaled negative significand ((unread.length : Int) - taken) rest
    | _ =>
      let hasExponent := rest.head? = some 'e' ∨ rest.head? = some 'E'
      if hasExponent ∨ unread ≠ [] then readScaled negative significand unread.length rest
      else if ¬ negative then .ok (.natural significand, rest)
      else if significand = 0 ∨ Nat.pow 2 63 < significand then
        readScaled negative significand 0 rest
      else .ok (.negative significand, rest)

def skipExponent (t : Text) : Except Malformed Text :=
  let t := if t.head? = some '+' ∨ t.head? = some '-' then t.drop 1 else t
  let digits := t.takeWhile Char.isDigit
  if digits.isEmpty then .error .invalidNumber else .ok (t.drop digits.length)

def skipNumber (t : Text) : Except Malformed Text :=
  let digits := t.takeWhile Char.isDigit
  let rest := t.drop digits.length
  if digits.isEmpty ∨ (digits.head? = some '0' ∧ 1 < digits.length) then .error .invalidNumber
  else
    match rest with
    | c :: rest' =>
      if c = '.' then
        let decimals := rest'.takeWhile Char.isDigit
        let rest := rest'.drop decimals.length
        if decimals.isEmpty then .error .invalidNumber
        else if rest.head? = some 'e' ∨ rest.head? = some 'E' then skipExponent (rest.drop 1)
        else .ok rest
      else if c = 'e' ∨ c = 'E' then skipExponent rest'
      else .ok rest
    | [] => .ok rest

def readWord : (word t : Text) → Except Malformed Text
  | [], t => .ok t
  | _ :: _, [] => .error .endOfValue
  | a :: word, c :: t => if a = c then readWord word t else .error .expectedIdent

mutual

/-- Skips one value; `fuel` bounds the number of steps. -/
def skipValueFrom : (fuel : Nat) → Text → Except Malformed Text
  | 0, _ => .error .endOfValue
  | fuel + 1, t =>
    match skipBlanks t with
    | [] => .error .endOfValue
    | c :: rest =>
      if c = '"' then skipString rest
      else if c = '-' then skipNumber rest
      else if c.isDigit then skipNumber (c :: rest)
      else if c = 'n' then readWord "ull" rest
      else if c = 't' then readWord "rue" rest
      else if c = 'f' then readWord "alse" rest
      else if c = '[' then
        match skipBlanks rest with
        | [] => .error .endOfList
        | ']' :: rest => .ok rest
        | rest => skipItemsFrom fuel rest
      else if c = '\x7b' then
        match skipBlanks rest with
        | [] => .error .endOfObject
        | '\x7d' :: rest => .ok rest
        | rest => skipMembersFrom fuel rest
      else .error .expectedValue

def skipItemsFrom : (fuel : Nat) → Text → Except Malformed Text
  | 0, _ => .error .endOfList
  | fuel + 1, t => do
    let rest ← skipValueFrom fuel t
    match skipBlanks rest with
    | [] => .error .endOfList
    | ',' :: rest => skipItemsFrom fuel rest
    | ']' :: rest => .ok rest
    | _ => .error .expectedCommaOrBracket

def skipMembersFrom : (fuel : Nat) → Text → Except Malformed Text
  | 0, _ => .error .endOfObject
  | fuel + 1, t =>
    match skipBlanks t with
    | [] => .error .endOfObject
    | '"' :: rest => do
      let rest ← skipString rest
      match skipBlanks rest with
      | [] => .error .endOfObject
      | ':' :: rest =>
        let rest ← skipValueFrom fuel rest
        match skipBlanks rest with
        | [] => .error .endOfObject
        | ',' :: rest => skipMembersFrom fuel rest
        | '\x7d' :: rest => .ok rest
        | _ => .error .expectedCommaOrBrace
      | _ => .error .expectedColon
    | _ => .error .keyMustBeString

end

def skipValue (t : Text) : Except Malformed Text := skipValueFrom (2 * t.length + 2) t

end GrantFs.Json
