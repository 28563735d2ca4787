import GrantFs.Regex.CharClass

/-! # Reading of patterns

A pattern is read in one pass. Each group keeps the alternatives that are finished and the items of
the one being read; modes set inside of a group hold until its end, also for later alternatives.
-/
namespace GrantFs.Regex

/-- A part of a pattern with the number of levels that its notation is nested. A change of modes is
a part that matches the empty text and that cannot be repeated. -/
structure Part where
  tree : Tree
  depth : Nat
  repeatable : Bool := true

def deepest (parts : List Part) : Nat := (parts.map (·.depth)).foldl max 0

/-- A group that is being read; both lists have the last part first. -/
structure Level where
  alternatives : List Part := []
  items : List Part := []

namespace Level

def sequence (l : Level) : Part :=
  match l.items with
  | [] => ⟨.empty, 0, true⟩
  | [item] => { item with repeatable := true }
  | items => ⟨items.foldl (fun tree item => .seq item.tree tree) .empty, 1 + deepest items, true⟩

def push (l : Level) (item : Part) : Level := { l with items := item :: l.items }

def next (l : Level) : Level := ⟨l.sequence :: l.alternatives, []⟩

def close (l : Level) : Part :=
  match l.alternatives with
  | [] => l.sequence
  | alternatives =>
    ⟨alternatives.foldl (fun tree part => .alt part.tree tree) l.sequence.tree,
      1 + deepest (l.sequence :: alternatives), true⟩

def pop (l : Level) : Except Flaw (Part × Level) :=
  match l.items with
  | item :: items =>
    if item.repeatable then .ok (item, { l with items }) else .error .missingOperand
  | [] => .error .missingOperand

def repeated (l : Level) (least : Nat) (most : Option Nat) (greedy : Bool) : Except Flaw Level := do
  let (item, l) ← l.pop
  pure (l.push ⟨item.tree.times least most greedy, item.depth + 1, true⟩)

end Level

def Modes.set? (m : Modes) (letter : Char) (on : Bool) : Option Modes :=
  if letter = 'i' then some { m with ignoreCase := on }
  else if letter = 'm' then some { m with multiLine := on }
  else if letter = 's' then some { m with dotAll := on }
  else if letter = 'U' then some { m with swapGreed := on }
  else if letter = 'u' then some { m with unicode := on }
  else if letter = 'R' then some { m with crlf := on }
  else if letter = 'x' then some { m with spaced := on }
  else none

/-- Reads mode letters up to a colon or a closing parenthesis; `seen` holds the letters and the
hyphen met so far, the last one first. -/
def readModes : Modes → (seen : Text) → Text → Except Flaw (Modes × Text × Text)
  | _, _, [] => .error .flags
  | m, seen, c :: rest =>
    if c = ':' ∨ c = ')' then
      if seen.head? = some '-' then .error .flags else .ok (m, seen, c :: rest)
    else if seen.contains c then .error .flags
    else if c = '-' then readModes m (c :: seen) rest
    else
      match m.set? c (!seen.contains '-') with
      | some m => readModes m (c :: seen) rest
      | none => .error .flags

inductive Opening where
  | group (modes : Modes) (name : Option Text)
  | directive (modes : Modes)

def isNameStart (c : Char) : Bool := c = '_' || Unicode.isAlphabetic c.toNat

def isNamePart (c : Char) : Bool :=
  c = '_' || c = '.' || c = '[' || c = ']' || Unicode.isAlphabetic c.toNat ||
    Unicode.isNumber c.toNat

def readName (t : Text) : Except Flaw (Text × Text) :=
  let name := t.takeWhile (· ≠ '>')
  match name, t.drop name.length with
  | c :: more, _ :: rest =>
    if isNameStart c && more.all isNamePart then .ok (name, rest) else .error .groupName
  | _, _ => .error .groupName

def readOpening (m : Modes) (t : Text) : Except Flaw (Opening × Text) :=
  match m.trim t with
  | '?' :: '=' :: _ => .error .lookAround
  | '?' :: '!' :: _ => .error .lookAround
  | '?' :: '<' :: '=' :: _ => .error .lookAround
  | '?' :: '<' :: '!' :: _ => .error .lookAround
  | '?' :: 'P' :: '<' :: rest =>
    (readName rest).map fun (name, rest) => (.group m (some name), rest)
  | '?' :: '<' :: rest => (readName rest).map fun (name, rest) => (.group m (some name), rest)
  | '?' :: rest => do
    match ← readModes m [] rest with
    | (m, _, ':' :: rest) => pure (.group m none, rest)
    | (_, [], _) => throw .missingOperand
    | (m, _, rest) => pure (.directive m, rest.drop 1)
  | rest => .ok (.group m none, rest)

/-- A lazy repetition has a question mark behind it; the swapped mode exchanges the two kinds. -/
def readGreed (m : Modes) : Text → Bool × Text
  | '?' :: rest => (m.swapGreed, rest)
  | rest => (!m.swapGreed, rest)

def takeCount (m : Modes) : (fuel : Nat) → Text → Text × Text
  | 0, t => ([], t)
  | fuel + 1, t =>
    match t with
    | c :: rest =>
      if c.isDigit then
        let (digits, rest) := takeCount m fuel (m.trim rest)
        (c :: digits, rest)
      else ([], t)
    | [] => ([], t)

def readCount (m : Modes) (t : Text) : Except Flaw (Nat × Text) :=
  let (digits, rest) := takeCount m (t.length + 1) (t.dropWhile isBlank)
  let n := Text.digitsValue digits
  if digits.isEmpty ∨ Nat.pow 2 32 ≤ n then .error .repetitionCount
  else .ok (n, m.trim (rest.dropWhile isBlank))

def readCounts (m : Modes) (t : Text) : Except Flaw (Nat × Option Nat × Text) := do
  let (least, rest) ← readCount m (m.trim t)
  match rest with
  | '\x7d' :: rest => pure (least, some least, rest)
  | ',' :: rest =>
    match m.trim rest with
    | '\x7d' :: rest => pure (least, none, rest)
    | rest =>
      let (most, rest) ← readCount m rest
      match rest with
      | '\x7d' :: rest =>
        if least ≤ most then pure (least, some most, rest) else throw .repetitionCount
      | _ => throw .repetitionCount
  | _ => throw .repetitionCount

/-- A literal character. Without Unicode a byte above the ASCII range is no character. -/
def literalTree (m : Modes) (c : Char) (byte : Bool) : Except Flaw Tree :=
  if !m.unicode && byte && 0x80 ≤ c.toNat then .error .beyondUnicode
  else if !m.ignoreCase then .ok (.char (.single c))
  else if m.unicode then .ok (.char (CharSet.anyCase c))
  else if c.isAlpha then .ok (.char (CharSet.asciiAnyCase c))
  else .ok (.char (.single c))

/-- Any character; line feeds, or both characters of a line end, are left out by default. -/
def dotTree (m : Modes) : Except Flaw Tree :=
  if !m.unicode then .error .beyondUnicode
  else if m.dotAll then .ok (.char (.complement .none))
  else if m.crlf then .ok (.char (.complement (.union (.single '\r') (.single '\n'))))
  else .ok (.char (.complement (.single '\n')))

def lineStart (m : Modes) : Anchor := if m.multiLine then .lineStart m.crlf else .textStart

def lineEnd (m : Modes) : Anchor := if m.multiLine then .lineEnd m.crlf else .textEnd

def atomTree (m : Modes) : Atom → Except Flaw Tree
  | .literal c byte => literalTree m c byte
  | .set set => .ok (.char set)
  | .anchor anchor => .ok (.look anchor)

/-- Reads the rest of a group, or of the whole pattern when not `inside` of one; also gives the
names of the groups met and what follows. -/
def readLevel : (fuel : Nat) → (inside : Bool) → Modes → (names : List Text) → Level → Text →
    Except Flaw (Part × List Text × Text)
  | 0, _, _, _, _, _ => .error .unclosedGroup
  | fuel + 1, inside, m, names, level, t =>
    match m.trim t with
    | [] => if inside then .error .unclosedGroup else .ok (level.close, names, [])
    | c :: rest =>
      let item (tree : Tree) (depth : Nat) (rest : Text) : Except Flaw (Part × List Text × Text) :=
        readLevel fuel inside m names (level.push ⟨tree, depth, true⟩) rest
      let counted (least : Nat) (most : Option Nat) (rest : Text) :
          Except Flaw (Part × List Text × Text) := do
        let (greedy, rest) := readGreed m rest
        readLevel fuel inside m names (← level.repeated least most greedy) rest
      if c = '(' then do
        match ← readOpening m rest with
        | (.directive m, rest) =>
          readLevel fuel inside m names (level.push ⟨.empty, 0, false⟩) rest
        | (.group inner name, rest) =>
          let names ← (match name with
            | none => pure names
            | some name =>
              if names.contains name then throw .duplicateName else pure (name :: names) :
              Except Flaw (List Text))
          let (part, names, rest) ← readLevel fuel true inner names {} rest
          readLevel fuel inside m names (level.push ⟨part.tree, part.depth + 1, true⟩) rest
      else if c = ')' then
        if inside then .ok (level.close, names, rest) else .error .unopenedGroup
      else if c = '|' then readLevel fuel inside m names level.next rest
      else if c = '[' then do
        let (part, rest) ← readClass m rest
        item (.char part.set) part.depth rest
      else if c = '?' then counted 0 (some 1) rest
      else if c = '*' then counted 0 none rest
      else if c = '+' then counted 1 none rest
      else if c = '\x7b' then do
        let (least, most, rest) ← readCounts m rest
        counted least most (m.trim rest)
      else if c = '\\' then do
        let (atom, rest) ← readEscape m rest
        item (← atomTree m atom) 0 rest
      else if c = '.' then do item (← dotTree m) 0 rest
      else if c = '^' then item (.look (lineStart m)) 0 rest
      else if c = '$' then item (.look (lineEnd m)) 0 rest
      else do item (← literalTree m c false) 0 rest

def depthLimit : Nat := 250

def weightLimit : Nat := 10 * Nat.pow 2 20

def parse (t : Text) : Except Flaw Tree := do
  let (part, _, _) ← readLevel (t.length + 1) false {} [] {} t
  if depthLimit < part.depth then throw .tooDeep
  if weightLimit < part.tree.weight then throw .tooLarge
  pure part.tree

end GrantFs.Regex
