import GrantFs.Regex.Basic

/-! # Reading of escapes and bracketed classes

Both read from behind their first character and return what follows. In the spaced mode blanks and
comments may stand almost anywhere, also inside of escapes and classes.
-/
namespace GrantFs.Regex

structure Modes where
  ignoreCase : Bool := false
  multiLine : Bool := false
  dotAll : Bool := false
  swapGreed : Bool := false
  unicode : Bool := true
  crlf : Bool := false
  spaced : Bool := false
deriving DecidableEq, Repr

def isBlank (c : Char) : Bool := Unicode.isWhiteSpace c.toNat

/-- Skips blanks and comments, which run to the end of their line. -/
def skipSpaces : (inComment : Bool) → Text → Text
  | _, [] => []
  | true, c :: rest => skipSpaces (c != '\n') rest
  | false, c :: rest =>
    if isBlank c then skipSpaces false rest
    else if c = '#' then skipSpaces true rest
    else c :: rest

namespace Modes

def trim (m : Modes) (t : Text) : Text := if m.spaced then skipSpaces false t else t

def fold (m : Modes) (set : CharSet) : CharSet := if m.ignoreCase then .folded set else set

/-- The complement; without Unicode it would hold parts of characters. -/
def negate (m : Modes) (set : CharSet) : Except Flaw CharSet :=
  if m.unicode then .ok (.complement set) else .error .beyondUnicode

end Modes

inductive Atom where
  /-- A character; `byte` tells that it is written as two hexadecimal digits. -/
  | literal (c : Char) (byte : Bool)
  | set (set : CharSet)
  | anchor (anchor : Anchor)

def isHexDigit (c : Char) : Bool :=
  c.isDigit || ('a' ≤ c && c ≤ 'f') || ('A' ≤ c && c ≤ 'F')

def hexDigitValue (c : Char) : Nat :=
  if c.isDigit then c.toNat - '0'.toNat
  else if 'a' ≤ c then c.toNat - 'a'.toNat + 10
  else c.toNat - 'A'.toNat + 10

def hexValue (digits : Text) : Nat := digits.foldl (fun n c => n * 16 + hexDigitValue c) 0

def charOf (n : Nat) : Except Flaw Char :=
  if h : n.isValidChar then .ok (Char.ofNatAux n h) else .error .escape

/-- The next `count` characters, without the blanks before them. -/
def takeSpaced (m : Modes) : (count : Nat) → Text → Option (Text × Text)
  | 0, t => some ([], t)
  | count + 1, t =>
    match m.trim t with
    | [] => none
    | c :: rest => (takeSpaced m count rest).map fun (taken, rest) => (c :: taken, rest)

/-- The characters up to a closing brace, without the blanks among them. -/
def takeBraced (m : Modes) : (fuel : Nat) → Text → Option (Text × Text)
  | 0, _ => none
  | fuel + 1, t =>
    match m.trim t with
    | [] => none
    | '\x7d' :: rest => some ([], rest)
    | c :: rest => (takeBraced m fuel rest).map fun (taken, rest) => (c :: taken, rest)

def readHex (m : Modes) (digits : Nat) (t : Text) : Except Flaw (Atom × Text) :=
  let (braced, taken) :=
    match m.trim t with
    | '\x7b' :: rest => (true, takeBraced m (rest.length + 1) rest)
    | t => (false, takeSpaced m digits t)
  match taken with
  | none => .error .escape
  | some (taken, rest) =>
    if taken ≠ [] ∧ taken.all isHexDigit then
      (charOf (hexValue taken)).map fun c => (.literal c (digits == 2 && !braced), rest)
    else .error .escape

/-- The set that the inside of `\p\x7b…\x7d` names, and whether it is negated by `!=`. -/
def propertySet? (name : Text) : Option (CharSet × Bool) :=
  match Text.cutAt? "!=" name with
  | some (property, value) => (CharSet.valued? property value).map (·, true)
  | none =>
    match Text.cutAt? ":" name with
    | some (property, value) => (CharSet.valued? property value).map (·, false)
    | none =>
      match Text.cutAt? "=" name with
      | some (property, value) => (CharSet.valued? property value).map (·, false)
      | none => (CharSet.named? name).map (·, false)

def readProperty (m : Modes) (negated : Bool) (t : Text) : Except Flaw (Atom × Text) :=
  let taken :=
    match m.trim t with
    | [] => none
    | '\\' :: _ => none
    | '\x7b' :: rest => takeBraced m (rest.length + 1) rest
    | c :: rest => some ([c], rest)
  match taken with
  | none => .error .escape
  | some (name, rest) =>
    if m.unicode then
      match propertySet? name with
      | none => .error .unknownProperty
      | some (set, inverse) => do
        let set := m.fold set
        let set ← if xor negated inverse then m.negate set else pure set
        pure (.set set, rest)
    else .error .beyondUnicode

def takeBoundaryName (m : Modes) : (fuel : Nat) → Text → Option (Text × Text)
  | 0, _ => none
  | fuel + 1, t =>
    match m.trim t with
    | [] => none
    | c :: rest =>
      if c.isAlpha || c = '-' then
        (takeBoundaryName m fuel rest).map fun (taken, rest) => (c :: taken, rest)
      else if c = '\x7d' then some ([], rest)
      else none

/-- A word boundary, or one of its named kinds. Braces that do not begin with a letter or a hyphen
are a repetition of the plain boundary. -/
def readBoundary (m : Modes) (t : Text) : Except Flaw (Atom × Text) :=
  let plain : Except Flaw (Atom × Text) := .ok (.anchor (.boundary m.unicode), t)
  match t with
  | '\x7b' :: rest =>
    match m.trim rest with
    | [] => .error .escape
    | c :: _ =>
      if c.isAlpha || c = '-' then
        match takeBoundaryName m (rest.length + 1) rest with
        | none => .error .escape
        | some (name, rest) =>
          if name = "start" then .ok (.anchor (.wordStart m.unicode), rest)
          else if name = "end" then .ok (.anchor (.wordEnd m.unicode), rest)
          else if name = "start-half" then .ok (.anchor (.wordStartHalf m.unicode), rest)
          else if name = "end-half" then .ok (.anchor (.wordEndHalf m.unicode), rest)
          else .error .escape
      else plain
  | _ => plain

def readEscape (m : Modes) : Text → Except Flaw (Atom × Text)
  | [] => .error .escape
  | c :: rest =>
    let literal (c : Char) : Except Flaw (Atom × Text) := .ok (.literal c false, rest)
    let anchor (a : Anchor) : Except Flaw (Atom × Text) := .ok (.anchor a, rest)
    if c = 'x' then readHex m 2 rest
    else if c = 'u' then readHex m 4 rest
    else if c = 'U' then readHex m 8 rest
    else if c = 'p' then readProperty m false rest
    else if c = 'P' then readProperty m true rest
    else if c = 'A' then anchor .textStart
    else if c = 'z' then anchor .textEnd
    else if c = 'b' then readBoundary m rest
    else if c = 'B' then anchor (.noBoundary m.unicode)
    else if c = '<' then anchor (.wordStart m.unicode)
    else if c = '>' then anchor (.wordEnd m.unicode)
    else if c = 'a' then literal '\x07'
    else if c = 'f' then literal '\x0c'
    else if c = 't' then literal '\t'
    else if c = 'n' then literal '\n'
    else if c = 'r' then literal '\r'
    else if c = 'v' then literal '\x0b'
    else if c.isAlphanum then
      match CharSet.shorthand? m.unicode c.toLower with
      | none => .error .escape
      | some set =>
        if c.isLower then .ok (.set set, rest)
        else (m.negate set).map fun set => (.set set, rest)
    else if c.toNat < 0x80 then literal c
    else .error .escape

inductive SetOp where
  | inter
  | minus
  | symDiff
deriving DecidableEq, Repr

def SetOp.apply : SetOp → CharSet → CharSet → CharSet
  | inter => .inter
  | minus => .minus
  | symDiff => .symDiff

structure ClassPart where
  set : CharSet
  depth : Nat

/-- How far the reading of a class has come: a hyphen is a literal at the start, and so is a closing
bracket there. -/
inductive Stage where
  | fresh
  | hyphens
  | body
deriving DecidableEq, Repr

structure ClassDraft where
  negated : Bool
  stage : Stage
  left : Option (SetOp × ClassPart)
  items : List ClassPart

namespace ClassDraft

def part (d : ClassDraft) : ClassPart :=
  match d.items with
  | [item] => item
  | [] => ⟨.none, 0⟩
  | items =>
    ⟨items.foldr (fun item set => .union item.set set) .none,
      1 + (items.map (·.depth)).foldl max 0⟩

def operand (m : Modes) (d : ClassDraft) : ClassPart :=
  match d.left with
  | none => d.part
  | some (op, left) =>
    ⟨op.apply (m.fold left.set) (m.fold d.part.set), 1 + max left.depth d.part.depth⟩

def push (d : ClassDraft) (stage : Stage) (item : ClassPart) : ClassDraft :=
  { d with stage, items := item :: d.items }

def operate (m : Modes) (d : ClassDraft) (op : SetOp) : ClassDraft :=
  { d with stage := .body, left := some (op, d.operand m), items := [] }

def close (m : Modes) (d : ClassDraft) : Except Flaw ClassPart := do
  let part := d.operand m
  let set := m.fold part.set
  let set ← if d.negated then m.negate set else pure set
  pure ⟨set, part.depth + 1⟩

end ClassDraft

/-- A literal inside of a class, where without Unicode only ASCII characters may stand. -/
def classLiteral (m : Modes) : Atom → Except Flaw Nat
  | .literal c _ =>
    if m.unicode || c.toNat < 0x80 then .ok c.toNat else .error .beyondUnicode
  | _ => .error .characterClass

def readClassItem (m : Modes) : Text → Except Flaw (Atom × Text)
  | [] => .error .characterClass
  | '\\' :: rest => readEscape m rest
  | c :: rest => .ok (.literal c false, rest)

/-- A single item or a range. A hyphen before a closing bracket or another hyphen makes no range. -/
def readClassRange (m : Modes) (t : Text) : Except Flaw (CharSet × Text) := do
  let (first, rest) ← readClassItem m t
  let single : Except Flaw CharSet :=
    match first with
    | .set set => .ok set
    | atom => (classLiteral m atom).map fun n => .span n n
  match m.trim rest with
  | [] => throw .characterClass
  | '-' :: behind =>
    match m.trim behind with
    | [] => throw .characterClass
    | c :: behind =>
      if c = ']' ∨ c = '-' then pure (← single, m.trim rest)
      else
        let (last, behind) ← readClassItem m (c :: behind)
        let low ← classLiteral m first
        let high ← classLiteral m last
        if low ≤ high then pure (.span low high, behind) else throw .characterClass
  | rest => pure (← single, rest)

/-- A named ASCII class, from behind its opening bracket; anything else is no such class. -/
def readAsciiClass? (m : Modes) (t : Text) : Option (Except Flaw (CharSet × Text)) :=
  match t with
  | ':' :: inside =>
    let (negated, inside) :=
      match inside with
      | '^' :: inside => (true, inside)
      | inside => (false, inside)
    let name := inside.takeWhile (· ≠ ':')
    match inside.drop name.length with
    | ':' :: ']' :: rest =>
      (CharSet.asciiClass? name).map fun set => do
        let set := m.fold set
        let set ← if negated then m.negate set else pure set
        pure (set, rest)
    | _ => none
  | _ => none

def openClass (m : Modes) (t : Text) : ClassDraft × Text :=
  match m.trim t with
  | '^' :: rest => (⟨true, .fresh, none, []⟩, m.trim rest)
  | t => (⟨false, .fresh, none, []⟩, t)

def readClassFrom (m : Modes) : (fuel : Nat) → ClassDraft → Text → Except Flaw (ClassPart × Text)
  | 0, _, _ => .error .characterClass
  | fuel + 1, draft, t =>
    match m.trim t with
    | [] => .error .characterClass
    | c :: rest =>
      let literal (stage : Stage) : Except Flaw (ClassPart × Text) :=
        readClassFrom m fuel (draft.push stage ⟨.single c, 0⟩) rest
      if c = '-' ∧ draft.stage ≠ .body then literal .hyphens
      else if c = ']' ∧ draft.stage = .fresh then literal .body
      else if c = ']' then (draft.close m).map (·, rest)
      else if c = '[' then
        match readAsciiClass? m rest with
        | some ascii => do
          let (set, rest) ← ascii
          readClassFrom m fuel (draft.push .body ⟨set, 0⟩) rest
        | none => do
          let (inner, inside) := openClass m rest
          let (item, rest) ← readClassFrom m fuel inner inside
          readClassFrom m fuel (draft.push .body item) rest
      else if c = '&' ∧ rest.head? = some '&' then
        readClassFrom m fuel (draft.operate m .inter) (rest.drop 1)
      else if c = '-' ∧ rest.head? = some '-' then
        readClassFrom m fuel (draft.operate m .minus) (rest.drop 1)
      else if c = '~' ∧ rest.head? = some '~' then
        readClassFrom m fuel (draft.operate m .symDiff) (rest.drop 1)
      else do
        let (set, rest) ← readClassRange m (c :: rest)
        readClassFrom m fuel (draft.push .body ⟨set, 0⟩) rest

def readClass (m : Modes) (t : Text) : Except Flaw (ClassPart × Text) :=
  let (draft, inside) := openClass m t
  readClassFrom m (t.length + 1) draft inside

end GrantFs.Regex
