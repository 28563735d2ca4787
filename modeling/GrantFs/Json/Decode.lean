import GrantFs.Json.Document

/-! # Reading typed values from documents

A decoder meets the parts of a document in their order, so of several flaws the first one met is
reported. Records are read from objects, in any order of the members and with unknown members passed
over, or from lists of their fields in declaration order.
-/
namespace GrantFs.Json

abbrev Decoder (α : Type) := Source → Doc → Except Flaw α

namespace Decode

def string : Decoder Text
  | _, .text t => .ok t
  | _, d => d.mismatch "a string"

def flag : Decoder Bool
  | _, .bool b => .ok b
  | _, d => d.mismatch "a boolean"

/-- A whole number from 0 to `2 ^ 64 - 1`; `expected` is how it is called in reports. -/
def word (expected : Text) : Decoder Nat
  | _, .number (.natural n) => .ok n
  | _, .number (.negative n) => .error (.wrongValue (.number (.negative n)) expected)
  | _, d => d.mismatch expected

/-- A whole number from `-2 ^ 63` to `2 ^ 63 - 1`. -/
def integer : Decoder Int
  | _, .number (.natural n) =>
    if n < Nat.pow 2 63 then .ok n else .error (.wrongValue (.number (.natural n)) "i64")
  | _, .number (.negative n) => .ok (-(n : Int))
  | _, d => d.mismatch "i64"

def location : Decoder Text
  | _, .text t => .ok t
  | _, d => d.mismatch "path string"

def logicalPath : Decoder Path := fun source d => do
  let t ← string source d
  match Path.ofText t with
  | .ok p => pure p
  | .error why => throw (.refusedPath t why)

def time : Decoder Instant
  | _, .text t =>
    match Instant.ofText t with
    | .ok i => .ok i
    | .error why => .error (.refusedInstant why)
  | _, d => d.mismatch "an RFC 3339 formatted date and time string"

def optional {α : Type} (decode : Decoder α) : Decoder (Option α)
  | _, .null => .ok none
  | source, d => (decode source d).map some

/-- The flaw at the end of a list all of whose items have been taken. -/
def Close.finish : Close → Except Flaw Unit
  | .closed => .ok ()
  | .stopped onNext _ => .error (.malformed onNext)

def list {α : Type} (decode : Decoder α) : Decoder (List α)
  | source, .array items close deep _ => do
    if deep then throw (.malformed .nestingLimit)
    let values ← items.mapM (decode source)
    Close.finish close
    pure values
  | _, d => d.mismatch "a sequence"

def choose {α : Type} (variants : List (Text × α)) (name : Text) : Except Flaw α :=
  match variants.lookup name with
  | some a => .ok a
  | none => .error (.unknownVariant name (variants.map (·.1)))

/-- One of several names: the name alone, or an object with the name as its only key and null as its
value. -/
def variant {α : Type} (variants : List (Text × α)) : Decoder α
  | _, .text t => choose variants t
  | _, .object _ _ _ _ named => do
    let (name, behind) ← named
    let a ← choose variants name
    match behind with
    | none => pure a
    | some flaw => throw flaw
  | .text, .flawed _ _ onVariant => .error (.malformed onVariant)
  | .text, _ => .error (.malformed .expectedValue)
  | _, d => d.mismatch "string or map"

/-- A field of a record: how its value is put into a draft of the record. -/
structure Field (α : Type) where
  name : Text
  store : Source → Doc → α → Except Flaw α
  /-- An object may lack the field; the draft then keeps what it has. -/
  mayLack : Bool
  /-- A list may end before the field. -/
  mayTrail : Bool

/-- A record by its name and fields. The `blank` record holds the defaults; what it holds for fields
that may not be lacking never shows. -/
structure Record (α : Type) where
  name : Text
  fields : List (Field α)
  blank : α

def required {α β : Type} (name : Text) (decode : Decoder β) (set : α → β → α) : Field α :=
  ⟨name, fun source d draft => (decode source d).map (set draft), false, false⟩

/-- A field that an object may lack or give as null. -/
def nullable {α β : Type} (name : Text) (decode : Decoder β) (set : α → Option β → α) : Field α :=
  ⟨name, fun source d draft => (optional decode source d).map (set draft), true, false⟩

def defaulted {α β : Type} (name : Text) (decode : Decoder β) (set : α → β → α) : Field α :=
  ⟨name, fun source d draft => (decode source d).map (set draft), true, true⟩

def elements (n : Nat) : Text :=
  if n = 1 then "1 element" else Text.decimal n ++ " elements"

/-- Puts the members into the draft; `seen` holds the names of the fields met so far. -/
def fillFromMembers {α : Type} (fields : List (Field α)) (source : Source) :
    (seen : List Text) → α → List (Text × Doc) → Except Flaw (List Text × α)
  | seen, draft, [] => .ok (seen, draft)
  | seen, draft, (key, d) :: rest =>
    match fields.find? (·.name = key) with
    | none => do
      d.skip
      fillFromMembers fields source seen draft rest
    | some field =>
      if seen.contains key then .error (.duplicateField key)
      else do
        let draft ← field.store source d draft
        fillFromMembers fields source (key :: seen) draft rest

/-- Puts the items into the draft, the first item into the first field. -/
def fillFromItems {α : Type} (recordName : Text) (total : Nat) (source : Source) (close : Close) :
    List (Field α) → List Doc → α → Except Flaw α
  | [], [], draft =>
    match close with
    | .closed => .ok draft
    | .stopped _ onEnd => .error (.malformed onEnd)
  | [], items@(_ :: _), _ =>
    match source with
    | .text => .error (.malformed .trailingCharacters)
    | .value => .error (.wrongLength (total + items.length) "fewer elements in array")
    | .gathered =>
      .error (.wrongLength (total + items.length) (elements total ++ " in sequence"))
  | field :: fields, [], draft =>
    match close with
    | .stopped onNext _ => .error (.malformed onNext)
    | .closed =>
      if field.mayTrail then fillFromItems recordName total source close fields [] draft
      else
        .error (.wrongLength (total - (fields.length + 1))
          ("struct " ++ recordName ++ " with " ++ elements total))
  | field :: fields, d :: items, draft => do
    let draft ← field.store source d draft
    fillFromItems recordName total source close fields items draft

def record {α : Type} (r : Record α) : Decoder α
  | source, .object members close deep _ _ => do
    if deep then throw (.malformed .nestingLimit)
    let (seen, draft) ← fillFromMembers r.fields source [] r.blank members
    match close with
    | some why => throw (.malformed why)
    | none =>
      match r.fields.find? fun f => !f.mayLack && !seen.contains f.name with
      | some field => throw (.missingField field.name)
      | none => pure draft
  | source, .array items close deep _ => do
    if deep then throw (.malformed .nestingLimit)
    fillFromItems r.name r.fields.length source close r.fields items r.blank
  | _, d => d.mismatch ("struct " ++ r.name)

mutual

def anyValue : Doc → Except Flaw Json
  | .null => .ok .null
  | .bool b => .ok (.bool b)
  | .number n => .ok (.number n)
  | .text t => .ok (.text t)
  | .flawed onRead _ _ => .error (.malformed onRead)
  | .array items close deep _ => do
    if deep then throw (.malformed .nestingLimit)
    let values ← anyItems items
    Close.finish close
    pure (.array values)
  | .object members close deep _ _ => do
    if deep then throw (.malformed .nestingLimit)
    let values ← anyMembers members
    match close with
    | some why => throw (.malformed why)
    | none => pure (.object values)

def anyItems : List Doc → Except Flaw (List Json)
  | [] => .ok []
  | d :: rest => do
    let j ← anyValue d
    let js ← anyItems rest
    pure (j :: js)

def anyMembers : List (Text × Doc) → Except Flaw (List (Text × Json))
  | [] => .ok []
  | (key, d) :: rest => do
    let j ← anyValue d
    let js ← anyMembers rest
    pure ((key, j) :: js)

end

def json : Decoder Json := fun _ d => (anyValue d).map Json.sorted

/-- The name of a variant where nothing but a string can give it. -/
def variantTag {α : Type} (variants : List (Text × α)) : Decoder α
  | _, .text t => choose variants t
  | _, d => d.mismatch "variant identifier"

def gatherMembers {α : Type} (tag : Text) (variants : List (Text × α)) (source : Source) :
    Option α → List (Text × Doc) → Except Flaw (Option α × List (Text × Json))
  | chosen, [] => .ok (chosen, [])
  | chosen, (key, d) :: rest =>
    if key = tag then
      match chosen with
      | some _ => .error (.duplicateField tag)
      | none => do
        let a ← variantTag variants source d
        gatherMembers tag variants source (some a) rest
    else do
      let j ← anyValue d
      let (chosen, members) ← gatherMembers tag variants source chosen rest
      pure (chosen, (key, j) :: members)

/-- A union whose variant is named by a member, or by the first item of a list; the remaining
content is set aside. -/
def tagged {α : Type} (union tag : Text) (variants : List (Text × α)) : Decoder (α × Json)
  | source, .object members close deep _ _ => do
    if deep then throw (.malformed .nestingLimit)
    let (chosen, rest) ← gatherMembers tag variants source none members
    match close, chosen with
    | some why, _ => throw (.malformed why)
    | none, none => throw (.missingField tag)
    | none, some a => pure (a, .object rest)
  | source, .array items close deep _ => do
    if deep then throw (.malformed .nestingLimit)
    match items with
    | [] => do
      Close.finish close
      throw (.missingField tag)
    | d :: rest => do
      let a ← variantTag variants source d
      let values ← anyItems rest
      Close.finish close
      pure (a, .array values)
  | _, d => d.mismatch ("internally tagged enum " ++ union)

end Decode

def Document.decode {α : Type} (doc : Document) (decoder : Decoder α) : Except Flaw α := do
  let a ← decoder doc.source doc.root
  if doc.trailing then throw (.malformed .trailingCharacters)
  pure a

def decodeText {α : Type} (decoder : Decoder α) (t : Text) : Except Flaw α :=
  (Document.ofText t).decode decoder

def decodeValue {α : Type} (decoder : Decoder α) (j : Json) : Except Flaw α :=
  (Document.ofJson j).decode decoder

end GrantFs.Json
