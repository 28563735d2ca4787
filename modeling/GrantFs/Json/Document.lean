import GrantFs.Json.Scan

/-! # JSON documents

A document is a value as it is met by a reader: flaws of the notation stay at the place where a
reader runs into them, so reading what comes before them still works and the first flaw on the way
is the one that is reported. What a flaw is depends on what the reader does at its place: it reads
the value, skips it, or takes it for the name of a variant.
-/
namespace GrantFs.Json

inductive Close where
  | closed
  /-- The flaw met when another item is asked for, and the one met when the end is. -/
  | stopped (onNext onEnd : Malformed)
deriving DecidableEq, Repr

/-- The name that a value gives when it is taken for a variant, with the flaw that stands behind the
name. -/
abbrev VariantName := Except Flaw (Text × Option Flaw)

inductive Doc where
  | null
  | bool (b : Bool)
  | number (n : Number)
  | text (t : Text)
  | flawed (onRead : Malformed) (onSkip : Option Malformed) (onVariant : Malformed)
  /-- `deep` tells that the list stands at the nesting limit. -/
  | array (items : List Doc) (close : Close) (deep : Bool) (onSkip : Option Malformed)
  | object (members : List (Text × Doc)) (close : Option Malformed) (deep : Bool)
      (onSkip : Option Malformed) (variant : VariantName)
deriving Inhabited

inductive Source where
  /-- From text, where the end of a list is seen only when it is reached. -/
  | text
  /-- From a value, whose objects are in key order. -/
  | value
  /-- From a value that was set aside while a tagged union was read. -/
  | gathered
deriving DecidableEq, Repr

namespace Doc

def found : Doc → Except Flaw Found
  | null => .ok .null
  | bool b => .ok (.bool b)
  | number n => .ok (.number n)
  | text t => .ok (.text t)
  | flawed onRead _ _ => .error (.malformed onRead)
  | array .. => .ok .sequence
  | object .. => .ok .map

def mismatch {α : Type} (d : Doc) (expected : Text) : Except Flaw α := do
  throw (.wrongKind (← d.found) expected)

def onSkip? : Doc → Option Malformed
  | flawed _ onSkip _ => onSkip
  | array _ _ _ onSkip => onSkip
  | object _ _ _ onSkip _ => onSkip
  | _ => none

def skip (d : Doc) : Except Flaw Unit :=
  match d.onSkip? with
  | none => .ok ()
  | some why => .error (.malformed why)

/-- The flaw behind the name of a variant that is followed by the value `d`, which has to be
null. -/
def afterName? : Doc → Option Flaw
  | null => none
  | d =>
    match d.found with
    | .ok found => some (.wrongKind found "unit")
    | .error flaw => some flaw

mutual

/-- How many containers stand within each other, plus one. -/
def height : Doc → Nat
  | array items _ _ _ => itemsHeight items + 1
  | object members _ _ _ _ => membersHeight members + 1
  | _ => 1

def itemsHeight : List Doc → Nat
  | [] => 0
  | d :: rest => max (height d) (itemsHeight rest)

def membersHeight : List (Text × Doc) → Nat
  | [] => 0
  | (_, d) :: rest => max (height d) (membersHeight rest)

end

/-- In a value, an object with one member names a variant by its key. -/
def singleName : List (Text × Doc) → VariantName
  | [(key, d)] => .ok (key, d.afterName?)
  | _ => .error (.wrongValue .map "map with a single key")

mutual

def ofJson : Json → Doc
  | .null => null
  | .bool b => bool b
  | .number n => number n
  | .text t => text t
  | .array items => array (ofItems items) .closed false none
  | .object members =>
    let members := ofMembers members
    object members none false none (singleName members)

def ofItems : List Json → List Doc
  | [] => []
  | j :: rest => ofJson j :: ofItems rest

def ofMembers : List (Text × Json) → List (Text × Doc)
  | [] => []
  | (key, j) :: rest => (key, ofJson j) :: ofMembers rest

end

/-- Containers may be nested up to this depth, the innermost one excluded. -/
def nestingLimit : Nat := 127

abbrev Reading := Doc × Except Malformed Text

def unreadable (why : Malformed) : Reading := (flawed why (some why) why, .error why)

/-- A scalar read from behind its first character, with the way of skipping it. -/
def scalar (read : Except Malformed (Doc × Text)) (skipped : Except Malformed Text)
    (onVariant : Option Malformed) : Reading :=
  match read with
  | .ok (d, rest) => (d, .ok rest)
  | .error why =>
    let onSkip := match skipped with
      | .ok _ => none
      | .error why => some why
    (flawed why onSkip (onVariant.getD why), skipped)

/-- The name that an object gives when it is taken for a variant. Its first key is the name, the
value behind it has to be null, and nothing may follow. -/
def variantOfMembers (deep : Bool) (inside : Text) (first : Reading)
    (members : List (Text × Doc)) (rest : Text) : VariantName :=
  if deep then .error (.malformed .nestingLimit)
  else
    match skipBlanks inside with
    | '"' :: keyText =>
      match readString keyText with
      | .error why => .error (.malformed why)
      | .ok (name, _) =>
        let behindValue : Option Flaw :=
          match skipBlanks rest with
          | [] => some (.malformed .endOfObject)
          | '\x7d' :: _ => none
          | _ => some (.malformed .expectedValue)
        match members with
        | (_, d) :: _ => .ok (name, d.afterName? <|> behindValue)
        | [] => .ok (name, none)
    | _ => .error (match first.1.found with
      | .ok found => .wrongKind found "variant identifier"
      | .error flaw => flaw)

mutual

/-- Reads the value at the start of the text; `depth` counts the containers around it. -/
def readFrom : (fuel depth : Nat) → Text → Reading
  | 0, _, _ => unreadable .endOfValue
  | fuel + 1, depth, t =>
    match skipBlanks t with
    | [] => unreadable .endOfValue
    | c :: rest =>
      if c = '"' then
        scalar ((readString rest).map fun (s, rest) => (text s, rest)) (skipString rest) none
      else if c = '-' then
        scalar ((readNumber true rest).map fun (n, rest) => (number n, rest)) (skipNumber rest)
          (some .expectedValue)
      else if c.isDigit then
        scalar ((readNumber false (c :: rest)).map fun (n, rest) => (number n, rest))
          (skipNumber (c :: rest)) (some .expectedValue)
      else if c = 'n' then
        scalar ((readWord "ull" rest).map (null, ·)) (readWord "ull" rest) (some .expectedValue)
      else if c = 't' then
        scalar ((readWord "rue" rest).map (bool true, ·)) (readWord "rue" rest)
          (some .expectedValue)
      else if c = 'f' then
        scalar ((readWord "alse" rest).map (bool false, ·)) (readWord "alse" rest)
          (some .expectedValue)
      else if c = '[' then
        let (items, close, after?) := readItems fuel (depth + 1) true rest
        let skipped := match after? with
          | some rest => .ok rest
          | none => skipValue (c :: rest)
        let onSkip := match skipped with
          | .ok _ => none
          | .error why => some why
        (array items close (decide (nestingLimit ≤ depth)) onSkip, skipped)
      else if c = '\x7b' then
        let (members, close, after?) := readMembers fuel (depth + 1) true rest
        let skipped := match after? with
          | some rest => .ok rest
          | none => skipValue (c :: rest)
        let onSkip := match skipped with
          | .ok _ => none
          | .error why => some why
        let deep := decide (nestingLimit ≤ depth)
        let variant := variantOfMembers deep rest (readFrom fuel (depth + 1) rest) members
          (behindFirst fuel (depth + 1) rest)
        (object members close deep onSkip variant, skipped)
      else unreadable .expectedValue

/-- What stands behind the first member of an object, when that can be skipped. -/
def behindFirst : (fuel depth : Nat) → Text → Text
  | 0, _, _ => []
  | _ + 1, _, t =>
    match skipBlanks t with
    | '"' :: rest =>
      match skipString rest with
      | .error _ => []
      | .ok rest =>
        match skipBlanks rest with
        | ':' :: rest =>
          match skipValue rest with
          | .ok rest => rest
          | .error _ => []
        | _ => []
    | _ => []

def readItems : (fuel depth : Nat) → (first : Bool) → Text → List Doc × Close × Option Text
  | 0, _, _, _ => ([], .stopped .endOfList .endOfList, none)
  | fuel + 1, depth, first, t =>
    let item (t : Text) : List Doc × Close × Option Text :=
      let (d, skipped) := readFrom fuel depth t
      match skipped with
      | .error why => ([d], .stopped why .trailingCharacters, none)
      | .ok rest =>
        let (items, close, after?) := readItems fuel depth false rest
        (d :: items, close, after?)
    match skipBlanks t with
    | [] => ([], .stopped .endOfList .endOfList, none)
    | ']' :: rest => ([], .closed, some rest)
    | c :: rest =>
      if first then item (c :: rest)
      else if c = ',' then
        match skipBlanks rest with
        | [] => ([], .stopped .endOfValue .trailingCharacters, none)
        | ']' :: _ => ([], .stopped .trailingComma .trailingComma, none)
        | rest => item rest
      else ([], .stopped .expectedCommaOrBracket .trailingCharacters, none)

def readMembers : (fuel depth : Nat) → (first : Bool) → Text →
    List (Text × Doc) × Option Malformed × Option Text
  | 0, _, _, _ => ([], some .endOfObject, none)
  | fuel + 1, depth, first, t =>
    let member (keyText : Text) : List (Text × Doc) × Option Malformed × Option Text :=
      match readString keyText with
      | .error why => ([], some why, none)
      | .ok (key, rest) =>
        match skipBlanks rest with
        | ':' :: rest =>
          let (d, skipped) := readFrom fuel depth rest
          match skipped with
          | .error why => ([(key, d)], some why, none)
          | .ok rest =>
            let (members, close, after?) := readMembers fuel depth false rest
            ((key, d) :: members, close, after?)
        | [] => ([(key, (unreadable .endOfObject).1)], some .endOfObject, none)
        | _ => ([(key, (unreadable .expectedColon).1)], some .expectedColon, none)
    match skipBlanks t with
    | [] => ([], some .endOfObject, none)
    | '\x7d' :: rest => ([], none, some rest)
    | c :: rest =>
      if first then
        if c = '"' then member rest else ([], some .keyMustBeString, none)
      else if c = ',' then
        match skipBlanks rest with
        | [] => ([], some .endOfValue, none)
        | '"' :: rest => member rest
        | '\x7d' :: _ => ([], some .trailingComma, none)
        | _ => ([], some .keyMustBeString, none)
      else ([], some .expectedCommaOrBrace, none)

end

end Doc

structure Document where
  root : Doc
  source : Source
  trailing : Bool

namespace Document

def ofText (t : Text) : Document :=
  let (root, skipped) := Doc.readFrom (2 * t.length + 2) 0 t
  match skipped with
  | .ok rest => ⟨root, .text, ¬ (skipBlanks rest).isEmpty⟩
  | .error _ => ⟨root, .text, false⟩

def ofJson (j : Json) : Document := ⟨Doc.ofJson j, .value, false⟩

end Document

end GrantFs.Json
