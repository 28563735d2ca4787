import GrantFs.Os.Call
import GrantFs.SortedMap
import GrantFs.Text.Utf8

/-! # Trees of files

A file system as the map from places to what lies there. A place is the list of names that lead to
it from the top without passing a link, so what lies below a directory is what its list of names
begins. The calls follow links as the POSIX calls do.
-/
namespace GrantFs

abbrev Place := List Name

namespace OsTree

def dot : Name := [0x2E]

def dotDot : Name := [0x2E, 0x2E]

def nameLimit : Nat := 255

structure Ordinary (name : Name) : Prop where
  ne_dot : name ≠ dot
  ne_dotDot : name ≠ dotDot
  short : name.length ≤ nameLimit

structure IsPiece (name : Name) : Prop where
  ne_nil : name ≠ []
  noSlash : 0x2F ∉ name

structure IsName (name : Name) : Prop extends Ordinary name, IsPiece name

instance (name : Name) : Decidable (Ordinary name) :=
  decidable_of_iff (name ≠ dot ∧ name ≠ dotDot ∧ name.length ≤ nameLimit)
    ⟨fun h => ⟨h.1, h.2.1, h.2.2⟩, fun h => ⟨h.ne_dot, h.ne_dotDot, h.short⟩⟩

instance (name : Name) : Decidable (IsPiece name) :=
  decidable_of_iff (name ≠ [] ∧ 0x2F ∉ name)
    ⟨fun h => ⟨h.1, h.2⟩, fun h => ⟨h.ne_nil, h.noSlash⟩⟩

instance (name : Name) : Decidable (IsName name) :=
  decidable_of_iff (Ordinary name ∧ IsPiece name)
    ⟨fun h => ⟨h.1, h.2⟩, fun h => ⟨h.toOrdinary, h.toIsPiece⟩⟩

end OsTree

structure LinkTarget where
  absolute : Bool
  names : List Name
  pieces : ∀ name ∈ names, OsTree.IsPiece name
deriving DecidableEq, Repr

inductive Node where
  | dir
  | file (content : Bytes) (modified : Instant)
  | link (target : LinkTarget)
deriving DecidableEq, Repr

/-- Every entry has a proper name and lies in a directory; the top has no entry. -/
structure OsTree.Sound (nodes : SortedMap Place Node) : Prop where
  top : nodes.get? [] = none
  named : ∀ dir name, nodes.get? (dir ++ [name]) ≠ none → IsName name
  inDir : ∀ dir name, nodes.get? (dir ++ [name]) ≠ none → dir = [] ∨ nodes.get? dir = some .dir

/-- The top directory is always there and has no entry. -/
structure OsTree where
  nodes : SortedMap Place Node
  sound : OsTree.Sound nodes
deriving DecidableEq, Repr

namespace OsTree

def empty : OsTree := ⟨∅, rfl, fun _ _ h => absurd rfl h, fun _ _ h => absurd rfl h⟩

instance : Inhabited OsTree := ⟨empty⟩

def get? (t : OsTree) (place : Place) : Option Node :=
  if place = [] then some .dir else t.nodes.get? place

@[simp] theorem get?_nil (t : OsTree) : t.get? [] = some .dir := rfl

theorem get?_of_ne_nil {t : OsTree} {place : Place} (h : place ≠ []) :
    t.get? place = t.nodes.get? place := if_neg h

/-- The node can be put at the place: in a directory, under a proper name, and in the place of a
directory only as one. -/
structure Fits (t : OsTree) (place : Place) (n : Node) : Prop where
  named : ∃ name ∈ place.getLast?, IsName name
  inDir : t.get? place.dropLast = some .dir
  replaces : n = .dir ∨ t.get? place ≠ some .dir

instance (t : OsTree) (place : Place) (n : Node) : Decidable (t.Fits place n) :=
  decidable_of_iff ((∃ name ∈ place.getLast?, IsName name) ∧
      t.get? place.dropLast = some .dir ∧ (n = .dir ∨ t.get? place ≠ some .dir))
    ⟨fun h => ⟨h.1, h.2.1, h.2.2⟩, fun h => ⟨h.named, h.inDir, h.replaces⟩⟩

theorem fits_concat {t : OsTree} {dir : Place} {name : Name} {n : Node} :
    t.Fits (dir ++ [name]) n ↔ IsName name ∧ t.get? dir = some .dir ∧
      (n = .dir ∨ t.get? (dir ++ [name]) ≠ some .dir) := by
  constructor
  · rintro ⟨⟨name', hlast, hname⟩, hdir, hreplaces⟩
    rw [List.getLast?_concat] at hlast
    cases hlast
    rw [List.dropLast_concat] at hdir
    exact ⟨hname, hdir, hreplaces⟩
  · rintro ⟨hname, hdir, hreplaces⟩
    refine ⟨⟨name, List.getLast?_concat, hname⟩, ?_, hreplaces⟩
    rw [List.dropLast_concat]
    exact hdir

theorem Fits.ne_nil {t : OsTree} {place : Place} {n : Node} (h : t.Fits place n) : place ≠ [] := by
  rintro rfl
  obtain ⟨name, hlast, -⟩ := h.named
  cases hlast

theorem Fits.sound {t : OsTree} {place : Place} {n : Node} (h : t.Fits place n) :
    Sound (t.nodes.insert place n) := by
  obtain ⟨name, hlast, -⟩ := h.named
  obtain ⟨dir, rfl⟩ := List.getLast?_eq_some_iff.mp hlast
  obtain ⟨hname, hdir, hreplaces⟩ := fits_concat.mp h
  refine ⟨?_, fun dir' name' hsome => ?_, fun dir' name' hsome => ?_⟩
  · rw [SortedMap.get?_insert, if_neg (Ne.symm h.ne_nil), t.sound.top]
  · rw [SortedMap.get?_insert] at hsome
    split at hsome
    next heq =>
      cases List.append_inj_right' heq rfl
      exact hname
    next => exact t.sound.named _ _ hsome
  · rw [SortedMap.get?_insert] at hsome
    rw [SortedMap.get?_insert]
    split at hsome
    next heq =>
      obtain rfl := List.append_inj_left' heq rfl
      by_cases hnil : dir' = []
      · exact .inl hnil
      · rw [if_neg (by simp), ← get?_of_ne_nil hnil]
        exact .inr hdir
    next hne =>
      refine (t.sound.inDir _ _ hsome).imp_right fun habove => ?_
      split
      next heq =>
        subst heq
        rw [← get?_of_ne_nil h.ne_nil] at habove
        rw [hreplaces.resolve_right (absurd habove)]
      next => exact habove

/-- A node is put where it fits; elsewhere the tree stays as it is. -/
def put (t : OsTree) (place : Place) (n : Node) : OsTree :=
  if h : t.Fits place n then ⟨t.nodes.insert place n, h.sound⟩ else t

theorem get?_erased (nodes : SortedMap Place Node) (place q : Place) :
    (nodes.filter fun other _ => !place.isPrefixOf other).get? q =
      if place <+: q then none else nodes.get? q := by
  rw [SortedMap.get?_filter]
  split
  next hle =>
    rw [List.isPrefixOf_iff_prefix.mpr hle]
    cases nodes.get? q <;> rfl
  next hnot =>
    rw [Bool.eq_false_iff.mpr (mt List.isPrefixOf_iff_prefix.mp hnot)]
    cases nodes.get? q <;> rfl

theorem sound_erased (t : OsTree) (place : Place) :
    Sound (t.nodes.filter fun other _ => !place.isPrefixOf other) := by
  refine ⟨?_, fun dir name hsome => ?_, fun dir name hsome => ?_⟩
  · rw [get?_erased, t.sound.top, ite_self]
  · rw [get?_erased] at hsome
    split at hsome
    next => exact absurd rfl hsome
    next => exact t.sound.named dir name hsome
  · rw [get?_erased] at hsome
    rw [get?_erased]
    split at hsome
    next => exact absurd rfl hsome
    next hnot =>
      rw [if_neg fun hle => hnot (hle.trans (List.prefix_append ..))]
      exact t.sound.inDir dir name hsome

/-- Takes away a node with all that lies below it. -/
def erase (t : OsTree) (place : Place) : OsTree :=
  ⟨t.nodes.filter fun other _ => !place.isPrefixOf other, t.sound_erased place⟩

def below (t : OsTree) (place : Place) : List (List Name × Node) :=
  t.nodes.entries.filterMap fun (other, n) =>
    if place.isPrefixOf other && other != place then some (other.drop place.length, n) else none

def locationLimit : Nat := 4096

/-- How many links are followed on the way to one place. -/
def linkLimit : Nat := 40

inductive Way where
  /-- To a place; only its last name may be missing in the tree. -/
  | arrived (place : Place)
  | link (dir : Place) (target : LinkTarget) (rest : List Name)
  | failed (why : OsError)
deriving DecidableEq, Repr

/-- Follows names from a directory up to the first link, which is left alone in the last position
unless `follow` is set. -/
def go (t : OsTree) (follow : Bool) : (dir : Place) → List Name → Way
  | dir, [] => .arrived dir
  | dir, name :: rest =>
    if name = dot then go t follow dir rest
    else if name = dotDot then go t follow dir.dropLast rest
    else if nameLimit < name.length then .failed .nameTooLong
    else
      match t.get? (dir ++ [name]) with
      | none => if rest = [] then .arrived (dir ++ [name]) else .failed .noEntry
      | some .dir => go t follow (dir ++ [name]) rest
      | some (.file ..) => if rest = [] then .arrived (dir ++ [name]) else .failed .notDirectory
      | some (.link target) =>
        if rest = [] ∧ !follow then .arrived (dir ++ [name]) else .link dir target rest

def resolve (t : OsTree) (follow : Bool) : (links : Nat) → (dir : Place) → List Name →
    Except OsError Place
  | links, dir, names =>
    match go t follow dir names with
    | .arrived place => .ok place
    | .failed why => .error why
    | .link dir target rest =>
      match links with
      | 0 => .error .linkLoop
      | links + 1 =>
        resolve t follow links (if target.absolute then [] else dir) (target.names ++ rest)

/-- The names in a location; a final slash asks for a directory, as a final dot does. -/
def namesOf (location : Text) : List Name :=
  (Text.segments location).map Utf8.encode ++
    (if location.getLast? = some '/' then [dot] else [])

def locate (t : OsTree) (follow : Bool) (names : List Name) : Except OsError Place :=
  resolve t follow linkLimit [] names

def checkLocation (location : Text) : Except OsError Unit :=
  if location.isEmpty then .error .noEntry
  else if locationLimit ≤ Text.byteSize location then .error .nameTooLong
  else .ok ()

def statusOf : Node → Status
  | .dir => ⟨.dir, 0, none⟩
  | .file content modified => ⟨.file, content.length, some modified⟩
  | .link _ => ⟨.link, 0, none⟩

def status (t : OsTree) (names : List Name) (follow : Bool) : Except OsError Status := do
  match t.get? (← t.locate follow names) with
  | some n => pure (statusOf n)
  | none => throw .noEntry

def read (t : OsTree) (names : List Name) : Except OsError Bytes := do
  match t.get? (← t.locate true names) with
  | some (.file content _) => pure content
  | some _ => throw .isDirectory
  | none => throw .noEntry

def vacancy (t : OsTree) (names : List Name) : Except OsError Place := do
  let place ← t.locate false names
  if (t.get? place).isSome then throw .exists
  pure place

def makeDir (t : OsTree) (names : List Name) : Except OsError OsTree :=
  (t.vacancy names).map fun place => t.put place .dir

def write (t : OsTree) (now : Instant) (names : List Name) (data : Bytes) :
    Except OsError OsTree := do
  let place ← t.locate true names
  if t.get? place = some .dir then throw .isDirectory
  pure (t.put place (.file data now))

def parentOf (t : OsTree) (names : List Name) : Except OsError Place := do
  let place ← t.locate true names.dropLast
  match t.get? place with
  | some .dir => pure place
  | some _ => throw .notDirectory
  | none => throw .noEntry

/-- The place of the last name, which is not followed if it is a link. Dots are refused with
`forDot` in the last position. -/
def entryOf (t : OsTree) (names : List Name) (forDot : OsError) : Except OsError Place := do
  let dir ← t.parentOf names
  match names.getLast? with
  | none => throw forDot
  | some name =>
    if name = dot ∨ name = dotDot then throw forDot
    else if nameLimit < name.length then throw .nameTooLong
    else pure (dir ++ [name])

/-- Moves a file; only directories are not replaced. -/
def move (t : OsTree) (source target : List Name) : Except OsError OsTree := do
  let _ ← t.parentOf source
  let _ ← t.parentOf target
  let old ← t.entryOf source .busy
  let new ← t.entryOf target .busy
  match t.get? old, t.get? new with
  | none, _ => throw .noEntry
  | some _, some .dir => throw .isDirectory
  | some .dir, _ => throw .isDirectory
  | some n, _ => pure (if old = new then t else (t.erase old).put new n)

def removeFile (t : OsTree) (names : List Name) : Except OsError OsTree := do
  let place ← t.entryOf names .isDirectory
  match t.get? place with
  | none => throw .noEntry
  | some .dir => throw .isDirectory
  | some _ => pure (t.erase place)

def removeDir (t : OsTree) (names : List Name) : Except OsError OsTree := do
  let place ← t.entryOf names .invalidArgument
  match t.get? place with
  | none => throw .noEntry
  | some .dir => if t.below place = [] then pure (t.erase place) else throw .notEmpty
  | some _ => throw .notDirectory

def filesBelow (t : OsTree) (place : Place) : List WalkedFile :=
  (t.below place).filterMap fun (names, n) =>
    match n with
    | .file content modified => some ⟨names, content.length, some modified⟩
    | _ => none

/-- A walk starts in a directory, also behind a link. A root that is a file is the only file met. -/
def walk (t : OsTree) (names : List Name) : Except OsError (List WalkedFile) := do
  let place ← t.locate false names
  match t.get? place with
  | none => throw .noEntry
  | some .dir => pure (t.filesBelow place)
  | some (.file content modified) => pure [⟨[], content.length, some modified⟩]
  | some (.link _) =>
    let place ← t.locate true names
    match t.get? place with
    | none => throw .noEntry
    | some .dir => pure (t.filesBelow place)
    | some _ => pure []

/-- The bytes in the location of `names` below a root. -/
def sizeBelow (root : Text) (names : List Name) : Nat :=
  names.foldl (fun size name => size + 1 + name.length)
    (Text.byteSize root - if root.getLast? = some '/' then 1 else 0)

/-- Walks with locations: a file whose location is too long cannot be looked at and is left out.
Nodes carry no permission bits, so every directory on the walk can be read. -/
def walkFrom (t : OsTree) (root : Text) : Except OsError (List WalkedFile) := do
  checkLocation root
  let files ← t.walk (namesOf root)
  pure (files.filter fun f => sizeBelow root f.names < locationLimit)

def names (t : OsTree) : List Name := t.nodes.keys.flatten

def isUsed (t : OsTree) (token : Text) : Bool :=
  t.names.any fun name => (Utf8.encode token).isSuffixOf name

/-- A text in which no name ends, of 36 characters as long as the tree leaves one. -/
def unusedToken (t : OsTree) : Text :=
  let candidates := (List.range (t.nodes.size + 1)).map fun n =>
    List.replicate (36 - (Text.decimal n).length) '0' ++ Text.decimal n
  (candidates.find? (!t.isUsed ·)).getD (List.replicate (t.names.flatten.length + 1) '0')

def update (t : OsTree) : Except OsError OsTree → Except OsError Unit × OsTree
  | .ok t => (.ok (), t)
  | .error why => (.error why, t)

/-- What a call gives and what it leaves of the tree. A call happens in full or not at all, and
what it may do is settled by the tree alone: permissions are not modelled, nor is a full disk that
takes a part of the written bytes. -/
def answer (now : Instant) (input : Bytes) : (q : OsCall) → OsTree → q.Reply × OsTree
  | .makeDir location, t =>
    t.update do
      checkLocation location
      t.makeDir ((Text.segments location).map Utf8.encode)
  | .status location follow, t =>
    (do checkLocation location; t.status (namesOf location) follow, t)
  | .read location, t => (do checkLocation location; t.read (namesOf location), t)
  | .write location data, t =>
    t.update do
      checkLocation location
      t.write now (namesOf location) data
  | .move source target, t =>
    t.update do
      checkLocation source
      checkLocation target
      t.move (namesOf source) (namesOf target)
  | .removeFile location, t =>
    t.update do
      checkLocation location
      t.removeFile (namesOf location)
  | .removeDir location, t =>
    t.update do
      checkLocation location
      t.removeDir ((Text.segments location).map Utf8.encode)
  | .walk root, t => (t.walkFrom root, t)
  | .token, t => (t.unusedToken, t)
  | .now, t => (now, t)
  | .input, t => (input, t)

end OsTree
end GrantFs
